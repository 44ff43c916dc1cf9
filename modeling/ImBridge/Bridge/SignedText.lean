import ImBridge.Bridge.ConnectorHmac
import ImBridge.Encoding.Separated
import ImBridge.Sequential
import Mathlib.Data.List.TakeWhile

/-!
# What a signature identifies

The text that is signed has one line for each part of the request. The last four parts have no line
breaks, so that they can be read off the text. Nothing forbids line breaks in the method, the path
and the query: a break can be moved from one of them into the next without changing the text. Two
requests with the same text are the same exactly if their methods, and their paths, have equally
many line breaks.

## Main definitions

* `pairsOf`, `queryValue`: a query as a map of keys to values
* `Accepted`: the checks of a request before its signature is looked at
* `SameRequest`: the parts that the signature is meant to bind
* `lineBreaks`: the line breaks of a text

## Main results

* `accepted_of_verify`: a request that is verified has passed the checks
* `perm_of_renderPairs_eq`: the normalised query determines the map
* `signed_text_identifies`: when requests with the same text are the same
* `signed_text_shared`: one signature for two requests
-/

namespace ImBridge

open Encoding

namespace ConnectorHmac

/-! ## Queries -/

/-- The pairs of a query, in the order in which they are written. -/
def pairsOf (query : String) : Except ConnectorHmacError (List (List Char × List Char)) :=
  if query = "" then .ok []
  else if query.toList.any fun c => c = '#' || c = ' ' then .error .ambiguousQuery
  else queryPairs (query.toList.splitOn '&') []

/-- The value that a query gives to a key. -/
def queryValue (query : String) (key : List Char) : Option (List Char) :=
  match pairsOf query with
  | .ok pairs => pairs.lookup key
  | .error _ => none

/-- A part of a normalised query. -/
def renderPair (pair : List Char × List Char) : List Char := pair.1 ++ '=' :: pair.2

def renderPairs (pairs : List (List Char × List Char)) : String :=
  String.ofList (List.intercalate ['&'] ((pairs.mergeSort keyLe).map renderPair))

theorem normalizeQuery_eq (query : String) :
    normalizeQuery query = (pairsOf query).map renderPairs := by
  unfold normalizeQuery pairsOf
  split
  · simp [Except.map, renderPairs]
  · split
    · rfl
    · cases queryPairs (query.toList.splitOn '&') [] <;> rfl

/-- Pairs as a query has them: keys occur once, and the separators are where they belong. -/
structure WellFormedPairs (pairs : List (List Char × List Char)) : Prop where
  nodup : (pairs.map Prod.fst).Nodup
  key : ∀ pair ∈ pairs, '=' ∉ pair.1 ∧ '&' ∉ pair.1
  value : ∀ pair ∈ pairs, '&' ∉ pair.2

theorem splitOnce_spec {part : List Char} (h : '&' ∉ part) :
    ('=' ∉ (splitOnce part).1 ∧ '&' ∉ (splitOnce part).1) ∧ '&' ∉ (splitOnce part).2 := by
  refine ⟨⟨fun hmem => ?_, fun hmem => h ?_⟩, fun hmem => h ?_⟩
  · simpa using List.mem_takeWhile_imp hmem
  · exact (List.takeWhile_prefix _).subset hmem
  · exact (List.dropWhile_suffix _).subset ((List.drop_suffix 1 _).subset hmem)

theorem wellFormed_of_queryPairs {parts : List (List Char)}
    {acc pairs : List (List Char × List Char)}
    (h : queryPairs parts acc = .ok pairs) (hparts : ∀ part ∈ parts, '&' ∉ part)
    (hacc : WellFormedPairs acc) : WellFormedPairs pairs := by
  induction parts generalizing acc with
  | nil =>
    cases h
    exact hacc
  | cons part parts ih =>
    simp only [queryPairs] at h
    split at h
    · cases h
    · split at h
      · cases h
      · rename_i hfresh
        rw [not_or] at hfresh
        obtain ⟨hkey, hvalue⟩ := splitOnce_spec (hparts part List.mem_cons_self)
        refine ih h (fun p hp => hparts p (List.mem_cons_of_mem _ hp)) ⟨?_, ?_, ?_⟩
        · rw [List.map_append, List.nodup_append]
          refine ⟨hacc.nodup, by simp, fun a ha b hb hab => hfresh.2 ?_⟩
          simp only [List.map_cons, List.map_nil, List.mem_singleton] at hb
          rwa [← hb, ← hab]
        · exact List.forall_mem_append.mpr ⟨hacc.key, List.forall_mem_singleton.mpr hkey⟩
        · exact List.forall_mem_append.mpr ⟨hacc.value, List.forall_mem_singleton.mpr hvalue⟩

theorem wellFormed_of_pairsOf {query : String} {pairs : List (List Char × List Char)}
    (h : pairsOf query = .ok pairs) : WellFormedPairs pairs := by
  have hnil : WellFormedPairs [] := ⟨List.nodup_nil, nofun, nofun⟩
  unfold pairsOf at h
  split at h
  · cases h
    exact hnil
  · split at h
    · cases h
    · exact wellFormed_of_queryPairs h (fun part hpart => not_mem_of_mem_splitOn hpart) hnil

theorem renderPair_inj {pair pair' : List Char × List Char} (h : '=' ∉ pair.1) (h' : '=' ∉ pair'.1)
    (heq : renderPair pair = renderPair pair') : pair = pair' := by
  have hcount : pair.1.count '=' = pair'.1.count '=' := by
    rw [List.count_eq_zero_of_not_mem h, List.count_eq_zero_of_not_mem h']
  obtain ⟨hkey, hvalue⟩ := append_cons_inj hcount heq
  exact Prod.ext hkey hvalue

variable {pairs pairs' : List (List Char × List Char)}

/-- The parts of a normalised query can be read off it. -/
theorem map_renderPair_of_intercalate (h : ∀ pair ∈ pairs, '&' ∉ renderPair pair)
    (h' : ∀ pair ∈ pairs', '&' ∉ renderPair pair)
    (heq : List.intercalate ['&'] (pairs.map renderPair) =
      List.intercalate ['&'] (pairs'.map renderPair)) :
    pairs.map renderPair = pairs'.map renderPair := by
  have hsplit : ∀ ps : List (List Char × List Char), ps ≠ [] →
      (∀ pair ∈ ps, '&' ∉ renderPair pair) →
        (List.intercalate ['&'] (ps.map renderPair)).splitOn '&' = ps.map renderPair := by
    intro ps hps hfree
    refine List.splitOn_intercalate '&' (fun part hpart => ?_) (by simpa using hps)
    obtain ⟨pair, hpair, rfl⟩ := List.mem_map.mp hpart
    exact hfree pair hpair
  -- a part is never empty, so that the empty text has no parts
  have hempty : ∀ ps : List (List Char × List Char), (∀ pair ∈ ps, '&' ∉ renderPair pair) →
      List.intercalate ['&'] (ps.map renderPair) = [] → ps = [] := by
    intro ps hfree hnil
    by_contra hps
    have hparts := hsplit ps hps hfree
    rw [hnil, List.splitOn_nil] at hparts
    obtain ⟨pair, -, hpair⟩ := List.mem_map.mp (hparts ▸ List.mem_singleton_self ([] : List Char))
    simp [renderPair] at hpair
  by_cases hps : pairs = []
  · subst hps
    rw [hempty pairs' h' (by rw [← heq]; rfl)]
  · have hps' : pairs' ≠ [] := by
      rintro rfl
      exact hps (hempty pairs h (by rw [heq]; rfl))
    rw [← hsplit pairs hps h, heq, hsplit pairs' hps' h']

/-- **The normalised query determines the pairs**, up to their order. -/
theorem perm_of_renderPairs_eq (h : WellFormedPairs pairs) (h' : WellFormedPairs pairs')
    (heq : renderPairs pairs = renderPairs pairs') : pairs.Perm pairs' := by
  have hperm := List.mergeSort_perm pairs keyLe
  have hperm' := List.mergeSort_perm pairs' keyLe
  have hfree : ∀ {ps : List (List Char × List Char)}, WellFormedPairs ps →
      ∀ pair ∈ ps.mergeSort keyLe, '=' ∉ pair.1 ∧ '&' ∉ renderPair pair := by
    intro ps hps pair hpair
    have hmem := (List.mergeSort_perm ps keyLe).mem_iff.mp hpair
    have hkey := hps.key pair hmem
    simp [renderPair, hkey, hps.value pair hmem]
  have hparts := map_renderPair_of_intercalate (fun pair hpair => (hfree h pair hpair).2)
    (fun pair hpair => (hfree h' pair hpair).2) (String.ofList_injective heq)
  have hsorted : pairs.mergeSort keyLe = pairs'.mergeSort keyLe :=
    eq_of_map_eq (fun pair hpair pair' hpair' =>
      renderPair_inj (hfree h pair hpair).1 (hfree h' pair' hpair').1) hparts
  exact hperm.symm.trans (hsorted ▸ hperm')

/-- Pairs in another order give the same values. -/
theorem lookup_of_perm (h : WellFormedPairs pairs) (h' : WellFormedPairs pairs')
    (hperm : pairs.Perm pairs') (key : List Char) : pairs.lookup key = pairs'.lookup key := by
  ext value
  rw [lookup_eq_some_iff_mem h.nodup, lookup_eq_some_iff_mem h'.nodup, hperm.mem_iff]

/-! ## Requests -/

/-- The checks of a request before its signature is looked at. -/
structure Accepted (req : ConnectorHmacRequest) : Prop where
  contentType : req.contentType = allowedContentType
  path : pathIsLegal req.path = true
  query : ∃ pairs, pairsOf req.query = .ok pairs
  nonce : nonceIsValid req.nonce = true

theorem accepted_of_verify {lib : Primitives} {key : Bytes} {req : ConnectorHmacRequest}
    {providedHex : String} {nowUnix : ℤ} {seen seen' : MemoryNonceSet}
    (h : verify lib key req providedHex nowUnix seen = .ok seen') : Accepted req := by
  unfold verify at h
  obtain ⟨hcontent, h⟩ := ensure_bind_eq_ok.mp h
  obtain ⟨hpath, h⟩ := ensure_bind_eq_ok.mp h
  rw [normalizeQuery_eq] at h
  cases hpairs : pairsOf req.query with
  | error e =>
    rw [hpairs] at h
    cases h
  | ok pairs =>
    rw [hpairs] at h
    obtain ⟨hnonce, -⟩ := ensure_bind_eq_ok.mp h
    exact ⟨beq_iff_eq.mp hcontent, hpath, ⟨pairs, hpairs⟩, hnonce⟩

/-- The parts of a request that its signature is meant to bind. -/
structure SameRequest (req req' : ConnectorHmacRequest) : Prop where
  method : toAsciiUppercase req.method = toAsciiUppercase req'.method
  path : req.path = req'.path
  query : ∀ key, queryValue req.query key = queryValue req'.query key
  timestamp : req.timestampUnix = req'.timestampUnix
  nonce : req.nonce = req'.nonce
  body : req.body = req'.body

def lineBreaks (s : String) : ℕ := s.toList.count '\n'

theorem lineBreaks_toAsciiUppercase (s : String) :
    lineBreaks (toAsciiUppercase s) = lineBreaks s := by
  have hupper : ∀ c : Char,
      ((if 'a' ≤ c ∧ c ≤ 'z' then Char.ofNat (c.toNat - 32) else c) == '\n') = (c == '\n') := by
    intro c
    split
    · rename_i hc
      have hletter : ∀ k < 123, 97 ≤ k →
          (Char.ofNat (k - 32) == '\n') = false ∧ (Char.ofNat k == '\n') = false := by decide
      have hlow : 97 ≤ c.toNat := hc.1
      have hhigh : c.toNat ≤ 122 := hc.2
      obtain ⟨hupper, hlower⟩ := hletter c.toNat (by omega) hlow
      rw [Char.ofNat_toNat] at hlower
      rw [hupper, hlower]
    · rfl
  simp only [lineBreaks, toAsciiUppercase, String.toList_ofList, List.count, List.countP_map]
  congr 1
  funext c
  exact hupper c

theorem not_lineBreak_of_nonceIsValid {nonce : String} (h : nonceIsValid nonce = true) :
    '\n' ∉ nonce.toList := by
  simp only [nonceIsValid, Bool.and_eq_true, List.all_eq_true] at h
  intro hmem
  exact absurd (h.2 _ hmem) (by decide)

theorem not_lineBreak_toString (n : ℤ) : '\n' ∉ (toString n).toList := by
  have hdigits : ∀ m : ℕ, '\n' ∉ Nat.toDigits 10 m := by
    intro m hmem
    have hdigit := Nat.isDigit_of_mem_toDigits (by omega) (by omega) hmem
    simp at hdigit
  cases n with
  | ofNat m => simpa [Int.repr] using hdigits m
  | negSucc m => simpa [Int.repr] using hdigits (m + 1)

/-- The text that is signed, line by line. -/
theorem canonicalString_of_accepted (lib : Primitives) {req : ConnectorHmacRequest}
    (h : Accepted req) {pairs : List (List Char × List Char)}
    (hpairs : pairsOf req.query = .ok pairs) :
    ∃ text, canonicalString lib req = .ok text ∧ text.toList =
      (toAsciiUppercase req.method).toList ++ '\n' :: (req.path.toList ++ '\n' ::
        ((renderPairs pairs).toList ++ '\n' :: ((toString req.timestampUnix).toList ++ '\n' ::
          (req.nonce.toList ++ '\n' :: (allowedContentType.toList ++ '\n' ::
            (lib.sha256Hex req.body).toList))))) := by
  have hquery : normalizeQuery req.query = .ok (renderPairs pairs) := by
    rw [normalizeQuery_eq, hpairs]
    rfl
  refine ⟨"\n".intercalate [toAsciiUppercase req.method, req.path, renderPairs pairs,
    toString req.timestampUnix, req.nonce, req.contentType, lib.sha256Hex req.body], ?_, ?_⟩
  · simp only [canonicalString, h.contentType, h.path, hquery]
    rfl
  · rw [String.toList_intercalate, h.contentType]
    simp [List.intercalate]

/-- Requests with the same text, with equally many line breaks in their methods and paths, have the
same lines. -/
theorem lines_of_canonicalString_eq {lib : Primitives}
    (hhash : ∀ b, '\n' ∉ (lib.sha256Hex b).toList) {req req' : ConnectorHmacRequest}
    (h : Accepted req) (h' : Accepted req') (hpairs : pairsOf req.query = .ok pairs)
    (hpairs' : pairsOf req'.query = .ok pairs')
    (htext : canonicalString lib req = canonicalString lib req')
    (hmethod : lineBreaks req.method = lineBreaks req'.method)
    (hpath : lineBreaks req.path = lineBreaks req'.path) :
    toAsciiUppercase req.method = toAsciiUppercase req'.method ∧ req.path = req'.path ∧
      renderPairs pairs = renderPairs pairs' ∧ req.timestampUnix = req'.timestampUnix ∧
      req.nonce = req'.nonce ∧ lib.sha256Hex req.body = lib.sha256Hex req'.body := by
  obtain ⟨text, hok, hlines⟩ := canonicalString_of_accepted lib h hpairs
  obtain ⟨text', hok', hlines'⟩ := canonicalString_of_accepted lib h' hpairs'
  obtain rfl : text = text' := by
    rw [hok, hok'] at htext
    exact Except.ok.inj htext
  rw [hlines] at hlines'
  -- the first two lines are found by their numbers of line breaks
  obtain ⟨hm, hrest⟩ := append_cons_inj (by
    simpa [lineBreaks] using (lineBreaks_toAsciiUppercase req.method).trans
      (hmethod.trans (lineBreaks_toAsciiUppercase req'.method).symm)) hlines'
  obtain ⟨hp, hrest⟩ := append_cons_inj hpath hrest
  -- the others have no line breaks, except for the query
  have htime := List.count_eq_zero_of_not_mem (not_lineBreak_toString req.timestampUnix)
  have htime' := List.count_eq_zero_of_not_mem (not_lineBreak_toString req'.timestampUnix)
  have hnonce := List.count_eq_zero_of_not_mem (not_lineBreak_of_nonceIsValid h.nonce)
  have hnonce' := List.count_eq_zero_of_not_mem (not_lineBreak_of_nonceIsValid h'.nonce)
  have hbody := List.count_eq_zero_of_not_mem (hhash req.body)
  have hbody' := List.count_eq_zero_of_not_mem (hhash req'.body)
  obtain ⟨hq, hrest⟩ := append_cons_inj_right (by
    simp only [List.count_append, List.count_cons, htime, htime', hnonce, hnonce', hbody, hbody'])
    hrest
  obtain ⟨ht, hrest⟩ := append_cons_inj (by rw [htime, htime']) hrest
  obtain ⟨hn, hrest⟩ := append_cons_inj (by rw [hnonce, hnonce']) hrest
  have hb := (List.cons.inj (List.append_cancel_left hrest)).2
  refine ⟨String.toList_inj.mp hm, String.toList_inj.mp hp, String.toList_inj.mp hq, ?_,
    String.toList_inj.mp hn, String.toList_inj.mp hb⟩
  exact toString_int_injective (String.toList_inj.mp ht)

/-- **What a signature identifies**: two requests that pass the checks and are signed over the same
text are the same request, exactly if their methods, and their paths, have equally many line breaks.
The bodies are taken not to collide under SHA-256, whose digests are written without line breaks. -/
theorem signed_text_identifies {lib : Primitives} {req req' : ConnectorHmacRequest}
    (hhash : ∀ b, '\n' ∉ (lib.sha256Hex b).toList)
    (hcollision : lib.sha256Hex req.body = lib.sha256Hex req'.body → req.body = req'.body)
    (h : Accepted req) (h' : Accepted req')
    (htext : canonicalString lib req = canonicalString lib req') :
    SameRequest req req' ↔
      lineBreaks req.method = lineBreaks req'.method ∧
        lineBreaks req.path = lineBreaks req'.path := by
  constructor
  · intro hsame
    rw [← lineBreaks_toAsciiUppercase req.method, hsame.method, lineBreaks_toAsciiUppercase,
      hsame.path]
    exact ⟨rfl, rfl⟩
  · rintro ⟨hmethod, hpath⟩
    obtain ⟨pairs, hpairs⟩ := h.query
    obtain ⟨pairs', hpairs'⟩ := h'.query
    obtain ⟨hm, hp, hq, ht, hn, hb⟩ :=
      lines_of_canonicalString_eq hhash h h' hpairs hpairs' htext hmethod hpath
    refine ⟨hm, hp, fun key => ?_, ht, hn, hcollision hb⟩
    have hwf := wellFormed_of_pairsOf hpairs
    have hwf' := wellFormed_of_pairsOf hpairs'
    simp only [queryValue, hpairs, hpairs']
    exact lookup_of_perm hwf hwf' (perm_of_renderPairs_eq hwf hwf' hq) key

/-! ## A line break that moves -/

section Shared

/-- A request for a path of two lines. -/
def brokenPath : ConnectorHmacRequest :=
  ⟨"GET", "/A\n/b", "", 5, "nonce-01", allowedContentType, []⟩

/-- A request for the second line of that path, with the first line in its method. -/
def brokenMethod : ConnectorHmacRequest :=
  ⟨"GET\n/A", "/b", "", 5, "nonce-01", allowedContentType, []⟩

theorem accepted_brokenPath : Accepted brokenPath :=
  ⟨rfl, by decide +kernel, ⟨[], rfl⟩, by decide +kernel⟩

theorem accepted_brokenMethod : Accepted brokenMethod :=
  ⟨rfl, by decide +kernel, ⟨[], rfl⟩, by decide +kernel⟩

theorem canonicalString_broken (lib : Primitives) :
    canonicalString lib brokenPath = canonicalString lib brokenMethod := by
  obtain ⟨text, htext, hlines⟩ :=
    canonicalString_of_accepted lib accepted_brokenPath (show pairsOf "" = .ok [] from rfl)
  obtain ⟨text', htext', hlines'⟩ :=
    canonicalString_of_accepted lib accepted_brokenMethod (show pairsOf "" = .ok [] from rfl)
  have hfirst : (toAsciiUppercase brokenPath.method).toList ++ '\n' :: brokenPath.path.toList =
      (toAsciiUppercase brokenMethod.method).toList ++ '\n' :: brokenMethod.path.toList := by
    decide +kernel
  rw [htext, htext', String.toList_inj.mp (hlines.trans (Eq.trans ?_ hlines'.symm))]
  rw [← List.cons_append, ← List.append_assoc, hfirst]
  simp [brokenPath, brokenMethod]

/-- **One signature for two requests**: whatever is accepted as the signature of the one is accepted
as the signature of the other. -/
theorem signed_text_shared :
    (∀ lib key providedHex nowUnix seen, verify lib key brokenPath providedHex nowUnix seen =
      verify lib key brokenMethod providedHex nowUnix seen) ∧
    Accepted brokenPath ∧ Accepted brokenMethod ∧ ¬ SameRequest brokenPath brokenMethod := by
  refine ⟨fun lib key providedHex nowUnix seen => ?_, accepted_brokenPath, accepted_brokenMethod,
    fun hsame => absurd hsame.path (by decide)⟩
  simp only [verify, canonicalString_broken, accepted_brokenPath.path, accepted_brokenMethod.path]
  rfl

/-- A request with this method. -/
def plainRequest (method : String) : ConnectorHmacRequest :=
  ⟨method, "/a", "", 5, "nonce-01", allowedContentType, [1]⟩

theorem accepted_plainRequest (method : String) : Accepted (plainRequest method) :=
  ⟨rfl, show pathIsLegal "/a" = true by decide +kernel, ⟨[], rfl⟩,
    show nonceIsValid "nonce-01" = true by decide +kernel⟩

/-- Libraries for the example, with the digest of its body. -/
def digestLibrary : Primitives :=
  { Primitives.plain with
    sha256Hex := fun bytes =>
      if bytes = [1] then "4bf5122f344554c53bde2ebb8cd2b7e3d1600ad631c385a5d7cce23c7785459a"
        else "" }

/-- A request is the same with its method in lower case. -/
theorem signed_text_identifies_lower : SameRequest (plainRequest "post") (plainRequest "POST") := by
  have hhash : ∀ b, '\n' ∉ (digestLibrary.sha256Hex b).toList := by
    intro b
    simp only [digestLibrary]
    split <;> decide
  have hbody : (plainRequest "post").body = (plainRequest "POST").body := rfl
  have hiff := signed_text_identifies hhash (fun _ => hbody) (accepted_plainRequest "post")
    (accepted_plainRequest "POST") rfl
  exact hiff.mpr ⟨by decide, rfl⟩

end Shared

end ConnectorHmac

end ImBridge
