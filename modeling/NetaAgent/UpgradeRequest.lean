import NetaAgent.UpgradeActivation
import NetaAgent.Uri

/-!
The request of a download: which URLs it is made from, and what goes over the wire.

`parse_trusted_https_url` cuts the authority at the first slash only and copies the rest into the
request as it is. So what it takes for the host can hold a question mark, which ends the host of a
URI, and what it takes for the path can hold a space or a line break.
-/

namespace NetaAgent.Upgrade

open Decimal List Uri

/-- What `https_get_once` writes. -/
def requestText (url : ParsedHttpsUrl) : Text :=
  "GET ".toList ++ url.path ++ " HTTP/1.1\r\nHost: ".toList ++ url.host ++
    "\r\nUser-Agent: neta-agent-updater/1\r\nAccept: application/octet-stream\r\n".toList ++
    "Connection: close\r\n\r\n".toList

/-! ### An accepted URL -/

lemma splitLast_some {c : Char} {t a b : Text} (h : splitLast c t = some (a, b)) :
    t = a ++ c :: b := by
  unfold splitLast at h
  split_ifs at h with hmem
  obtain ⟨u, v, ht, hu⟩ := eq_append_cons_of_mem (mem_reverse.mpr hmem)
  have hpos : ∀ d ∈ u, decide (d ≠ c) = true := fun d hd => by
    rw [decide_eq_true_eq]
    rintro rfl
    exact hu hd
  rw [ht, takeWhile_append_of_pos hpos, dropWhile_append_of_pos hpos] at h
  simp only [takeWhile_cons, dropWhile_cons, ne_eq, not_true_eq_false, decide_false,
    Bool.false_eq_true, if_false, tail_cons, append_nil, Option.some.injEq, Prod.mk.injEq] at h
  obtain ⟨rfl, rfl⟩ := h
  rw [← reverse_reverse t, ht]
  simp

/-- What the parser has cut: the authority ends at the first slash, the host at the last colon. -/
structure Parts (url : Text) (p : ParsedHttpsUrl) (rest host port : Text) : Prop where
  url_eq : url = "https://".toList ++ rest
  authority_eq : rest.takeWhile (· ≠ '/') = host ++ port
  port_cases : port = [] ∨ port = ":443".toList
  noUser : '@' ∉ rest.takeWhile (· ≠ '/')
  host_eq : p.host = lower host
  path_eq : p.path = if rest.dropWhile (· ≠ '/') = [] then ['/'] else rest.dropWhile (· ≠ '/')

variable {p : ParsedHttpsUrl} {l url : Text}

lemma parts_of_parse (h : parseTrustedHttpsUrl url = .ok p) :
    ∃ rest host port, Parts url p rest host port := by
  simp only [parseTrustedHttpsUrl] at h
  split at h
  · cases h
  next hscheme =>
  obtain ⟨rest, rfl⟩ := not_not.mp hscheme
  rw [drop_left] at h
  split at h
  · cases h
  split at h
  · cases h
  next hauthority =>
  split at h
  · cases h
  next htrusted =>
  simp only [not_or, not_not] at htrusted hauthority
  obtain ⟨-, hport, -⟩ := htrusted
  cases h
  cases hsplit : splitLast ':' (rest.takeWhile fun c => decide (c ≠ '/')) with
  | none =>
    exact ⟨rest, rest.takeWhile fun c => decide (c ≠ '/'), [], rfl, (append_nil _).symm, .inl rfl,
      hauthority.2, rfl, rfl⟩
  | some parts =>
    obtain ⟨host, port⟩ := parts
    rw [hsplit] at hport
    have hport : port = "443".toList := hport
    exact ⟨rest, host, ':' :: port, rfl, splitLast_some hsplit, .inr (by rw [hport]; rfl),
      hauthority.2, rfl, rfl⟩

/-! ### The host -/

def TrustedName (name : Text) : Prop :=
  name = "github.com".toList ∨ ∃ sub, sub ≠ [] ∧ name = sub ++ ".githubusercontent.com".toList

lemma isTrustedGithubHost_iff {host : Text} :
    isTrustedGithubHost host = true ↔ TrustedName (lower host) := by
  simp only [isTrustedGithubHost, Bool.or_eq_true, Bool.and_eq_true, decide_eq_true_eq]
  refine or_congr_right ⟨fun ⟨hlen, sub, hsub⟩ => ⟨sub, ?_, hsub.symm⟩, fun ⟨sub, hsub, heq⟩ => ?_⟩
  · rintro rfl
    rw [← hsub, nil_append] at hlen
    exact absurd hlen (lt_irrefl _)
  · rw [heq, length_append]
    exact ⟨Nat.lt_add_of_pos_left (length_pos_iff.mpr hsub), suffix_append _ _⟩

/-- No address in brackets is a trusted name. -/
lemma not_trustedName_bracket (address : Text) :
    ¬ TrustedName (lower ('[' :: (address ++ [']']))) := by
  have hlast : (lower ('[' :: (address ++ [']']))).getLast? = some ']' := by
    rw [lower, map_cons, map_append, ← cons_append]
    exact getLast?_concat
  rintro (h | ⟨sub, -, h⟩)
  · rw [h] at hlast
    cases hlast
  · rw [h, getLast?_append] at hlast
    cases hlast

lemma hostPart_trusted (t : Text) :
    (∃ host, Uri.hostPart t = some host ∧ TrustedName (lower host)) ↔
      regName (t.takeWhile (· ≠ ':')) = true ∧ isTrustedGithubHost (t.takeWhile (· ≠ ':')) = true ∧
        isPort (t.dropWhile (· ≠ ':')) = true := by
  rw [isTrustedGithubHost_iff]
  by_cases hbracket : ∃ r, t = '[' :: r
  · obtain ⟨r, rfl⟩ := hbracket
    refine iff_of_false ?_ fun h => notMem_of_regName (c := '[') h.1 rfl mem_cons_self
    rintro ⟨host, hhost, htrusted⟩
    rw [hostPart] at hhost
    split at hhost
    · cases hhost
    · split at hhost
      · cases hhost
        exact not_trustedName_bracket _ htrusted
      · cases hhost
  · rw [hostPart]
    · split
      · next hformed =>
        rw [Bool.and_eq_true] at hformed
        simp only [Option.some.injEq, exists_eq_left', hformed, true_and, and_true]
      · next hformed =>
        rw [Bool.and_eq_true, not_and] at hformed
        simp only [reduceCtorEq, false_and, exists_false, false_iff, not_and]
        exact fun hname _ => hformed hname
    · exact fun r hr => hbracket ⟨r, hr⟩

/-- The RFC ends the authority at a question mark too, so its host is found in a part of the text
that the parser takes for the authority. -/
lemma host_https {rest : Text} (hat : '@' ∉ rest.takeWhile (· ≠ '/')) :
    Uri.host ("https://".toList ++ rest) =
      hostPart (rest.takeWhile fun c => !endsAuthority c) := by
  have hauthority : authority ("https://".toList ++ rest) =
      some (rest.takeWhile fun c => !endsAuthority c) := rfl
  have hsub : (rest.takeWhile fun c => !endsAuthority c) <+: rest.takeWhile (· ≠ '/') := by
    have hcut := takeWhile_takeWhile (fun c => !endsAuthority c) (fun c => decide (c ≠ '/')) rest
    have hboth : (fun c => decide ((!endsAuthority c) = true ∧ decide (c ≠ '/') = true)) =
        fun c => !endsAuthority c := by
      funext c
      cases h : endsAuthority c with
      | true => simp
      | false =>
        have hc : c ≠ '/' := by rintro rfl; cases h
        simp [hc]
    rw [← hboth, ← hcut]
    exact takeWhile_prefix _
  rw [Uri.host, hauthority, Option.bind_some, hostOf, if_neg fun h => hat (hsub.subset h)]

/-! ### The lines of a request -/

/-- The lines of a text that ends each of them with a carriage return and a line feed. -/
def crlfLines : Text → List Text
  | '\r' :: '\n' :: r => [] :: crlfLines r
  | c :: r => (crlfLines r).modifyHead (c :: ·)
  | [] => [[]]

def joinLines (ls : List Text) : Text := List.intercalate "\r\n".toList ls

lemma joinLines_cons (l : Text) {ls : List Text} (hls : ls ≠ []) :
    joinLines (l :: ls) = l ++ '\r' :: '\n' :: joinLines ls := by
  cases ls with
  | nil => exact absurd rfl hls
  | cons l' ls => simp [joinLines, intercalate]

/-- A carriage return and a line feed stand in the text. -/
def hasBreak : Text → Bool
  | '\r' :: '\n' :: _ => true
  | _ :: r => hasBreak r
  | [] => false

lemma hasBreak_of_notMem (hl : '\r' ∉ l) : hasBreak l = false := by
  fun_induction hasBreak l with
  | case1 => exact absurd mem_cons_self hl
  | case2 c r h ih => exact ih fun hr => hl (mem_cons_of_mem c hr)
  | case3 => rfl

lemma crlfLines_append (hl : hasBreak l = false) (r : Text) :
    crlfLines (l ++ '\r' :: '\n' :: r) = l :: crlfLines r := by
  fun_induction hasBreak l with
  | case1 => cases hl
  | case2 c l h ih =>
    rw [cons_append, crlfLines, ih hl, modifyHead_cons]
    intro t hc ht
    cases l with
    | nil => cases ht
    | cons d l => exact h l hc (by rw [(cons.inj ht).1])
  | case3 => rw [nil_append, crlfLines]

lemma crlfLines_single (hl : hasBreak l = false) : crlfLines l = [l] := by
  fun_induction hasBreak l with
  | case1 => cases hl
  | case2 c l h ih =>
    rw [crlfLines, ih hl, modifyHead_cons]
    exact h
  | case3 => rfl

lemma crlfLines_joinLines {ls : List Text} (hne : ls ≠ []) (hls : ∀ l ∈ ls, hasBreak l = false) :
    crlfLines (joinLines ls) = ls := by
  induction ls with
  | nil => exact absurd rfl hne
  | cons l ls ih =>
    rw [forall_mem_cons] at hls
    by_cases hlast : ls = []
    · subst hlast
      rw [show joinLines [l] = l by simp [joinLines, intercalate], crlfLines_single hls.1]
    · rw [joinLines_cons l hlast, crlfLines_append hls.1, ih hlast hls.2]

lemma crlfLines_ne_nil (t : Text) : crlfLines t ≠ [] := by
  fun_induction crlfLines t with
  | case2 c r h ih => rwa [ne_eq, modifyHead_eq_nil_iff]
  | case1 | case3 => exact cons_ne_nil _ _

lemma joinLines_crlfLines (t : Text) : joinLines (crlfLines t) = t := by
  fun_induction crlfLines t with
  | case1 r ih => rw [joinLines_cons _ (crlfLines_ne_nil r), ih]; rfl
  | case2 c r h ih =>
    obtain ⟨l, ls, hr⟩ := exists_cons_of_ne_nil (crlfLines_ne_nil r)
    rw [hr] at ih ⊢
    rw [modifyHead_cons]
    cases ls with
    | nil => simpa [joinLines, intercalate] using ih
    | cons l' ls =>
      rw [joinLines_cons _ (cons_ne_nil _ _)] at ih ⊢
      rw [cons_append, ih]
  | case3 => rfl

lemma joinLines_cons_cons (c : Char) (l : Text) (ls : List Text) :
    joinLines ((c :: l) :: ls) = c :: joinLines (l :: ls) := by
  cases ls <;> simp [joinLines, intercalate]

lemma hasBreak_of_mem_crlfLines {t : Text} : ∀ l ∈ crlfLines t, hasBreak l = false := by
  fun_induction crlfLines t with
  | case1 r ih => exact forall_mem_cons.mpr ⟨rfl, ih⟩
  | case2 c r h ih =>
    have hr := joinLines_crlfLines r
    obtain ⟨l, ls, heq⟩ := exists_cons_of_ne_nil (crlfLines_ne_nil r)
    rw [heq, forall_mem_cons] at ih
    rw [heq] at hr ⊢
    refine forall_mem_cons.mpr ⟨?_, ih.2⟩
    rw [hasBreak, ih.1]
    -- a line feed at the start of the line would stand at the start of the text
    rintro l' hc rfl
    rw [joinLines_cons_cons] at hr
    exact h _ hc hr.symm
  | case3 => exact forall_mem_singleton.mpr rfl

/-- The lines that are meant: the request, four headers and the empty line that ends them. -/
def requestLines (target host : Text) : List Text :=
  ["GET ".toList ++ target ++ " HTTP/1.1".toList, "Host: ".toList ++ host,
    "User-Agent: neta-agent-updater/1".toList, "Accept: application/octet-stream".toList,
    "Connection: close".toList, [], []]

lemma requestText_eq (p : ParsedHttpsUrl) :
    requestText p = joinLines (requestLines p.path p.host) := by
  unfold requestText requestLines
  iterate 6 rw [joinLines_cons _ (cons_ne_nil _ _)]
  rw [append_assoc, append_assoc, append_assoc, append_assoc, append_assoc]
  rfl

def Visible (c : Char) : Prop := 0x20 < c.toNat ∧ c.toNat ≠ 0x7f

instance (c : Char) : Decidable (Visible c) := inferInstanceAs (Decidable (_ ∧ _))

/-- The text is the request line of a target that can be seen, and the four headers. -/
def Intended (host text : Text) : Prop :=
  ∃ target, (∀ c ∈ target, Visible c) ∧ crlfLines text = requestLines target host

lemma hasBreak_lower (t : Text) : hasBreak (lower t) = hasBreak t := by
  fun_induction hasBreak t with
  | case1 => rfl
  | case2 c r h ih =>
    rw [← ih]
    refine hasBreak.eq_2 _ _ fun t hc ht => ?_
    obtain ⟨d, r', rfl, hd, -⟩ := map_eq_cons_iff.mp ht
    exact h r' (eq_of_toLower (by decide) hc) (by rw [eq_of_toLower (by decide) hd])
  | case3 => rfl

lemma hasBreak_append_port {t port : Text} (hport : port = [] ∨ port = ":443".toList) :
    hasBreak (t ++ port) = hasBreak t := by
  fun_induction hasBreak t with
  | case1 => rfl
  | case2 c r h ih =>
    rw [← ih]
    refine hasBreak.eq_2 _ _ fun t hc ht => ?_
    cases r with
    | nil => rcases hport with rfl | rfl <;> cases ht
    | cons d r => exact h r hc (by rw [(cons.inj ht).1])
  | case3 => rcases hport with rfl | rfl <;> rfl

lemma intended_iff : Intended p.host (requestText p) ↔
    hasBreak p.host = false ∧ ∀ c ∈ p.path, Visible c := by
  constructor
  · rintro ⟨target, hvisible, hlines⟩
    have htext : joinLines (requestLines p.path p.host) = joinLines (requestLines target p.host) := by
      rw [← requestText_eq, ← hlines, joinLines_crlfLines]
    have hpath : p.path = target := by
      simpa [requestLines, joinLines_cons] using htext
    have hhost : hasBreak ("Host: ".toList ++ p.host) = false :=
      hasBreak_of_mem_crlfLines (t := requestText p) _
        (by rw [hlines]; exact mem_cons_of_mem _ mem_cons_self)
    exact ⟨hhost, hpath ▸ hvisible⟩
  · rintro ⟨hhost, hvisible⟩
    have hpath : '\r' ∉ p.path := fun h => absurd (hvisible _ h).1 (by decide)
    have hrequest : hasBreak ("GET ".toList ++ p.path ++ " HTTP/1.1".toList) = false := by
      refine hasBreak_of_notMem ?_
      simp only [mem_append, hpath, or_false]
      decide
    refine ⟨p.path, hvisible, ?_⟩
    rw [requestText_eq]
    refine crlfLines_joinLines (cons_ne_nil _ _) ?_
    simp only [requestLines, forall_mem_cons, hrequest, true_and]
    exact ⟨hhost, by decide⟩

/-- A URL that gives no room to either fault. Up to the first slash or question mark stands a
registered name under a trusted domain, with a port or without; up to the first slash there is no
line break; and from there on there are no spaces and no control characters. -/
def SafeUrl (url : Text) : Prop :=
  let rest := url.drop "https://".toList.length
  let authority := rest.takeWhile fun c => !endsAuthority c
  (regName (authority.takeWhile (· ≠ ':')) = true ∧
      isTrustedGithubHost (authority.takeWhile (· ≠ ':')) = true ∧
      isPort (authority.dropWhile (· ≠ ':')) = true) ∧
    hasBreak (rest.takeWhile (· ≠ '/')) = false ∧ ∀ c ∈ rest.dropWhile (· ≠ '/'), Visible c

instance (url : Text) : Decidable (SafeUrl url) :=
  @instDecidableAnd _ _ inferInstance (@instDecidableAnd _ _ inferInstance
    (List.decidableBAll Visible _))

end NetaAgent.Upgrade
