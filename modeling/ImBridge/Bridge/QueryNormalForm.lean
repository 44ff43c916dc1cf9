import ImBridge.Bridge.SignedText

/-!
# The normal form of a query

A query is read as a map of keys to values, and written again with its keys in order. Queries that
could be read in two ways are refused.

## Main definitions

* `Ambiguous`: the queries that are refused
* `Assigns`: the map that a query denotes

## Main results

* `pairsOf_eq_ok_iff`: what is read of a query that is not refused
* `pairsOf_renderPairs`: a normal form is read as the pairs it was made of
* `query_normal_form`: the normal form is one, and it stands for the map
-/

namespace ImBridge

open Encoding

namespace ConnectorHmac

variable {query : String} {pairs pairs' : List (List Char × List Char)}

/-! ## Reading -/

/-- The parts of a query between the ampersands. -/
def partsOf (query : String) : List (List Char) := query.toList.splitOn '&'

/-- A query that is refused: it has a space or a number sign, a part or a key is empty, or a key
occurs twice. -/
def Ambiguous (query : String) : Prop :=
  query ≠ "" ∧ (' ' ∈ query.toList ∨ '#' ∈ query.toList ∨ [] ∈ partsOf query ∨
    (∃ part ∈ partsOf query, (splitOnce part).1 = []) ∨
      ¬ ((partsOf query).map fun part => (splitOnce part).1).Nodup)

/-- The query gives the value to the key. A key without an equals sign has the empty value. -/
def Assigns (query : String) (key value : List Char) : Prop :=
  query ≠ "" ∧ '=' ∉ key ∧
    (key ++ '=' :: value ∈ partsOf query ∨ (key ∈ partsOf query ∧ value = []))

theorem forall_ne_of_not_mem {l : List Char} (h : '=' ∉ l) : ∀ c ∈ l, decide (c ≠ '=') = true := by
  intro c hc
  rw [decide_eq_true_eq]
  rintro rfl
  exact h hc

/-- A part has the key and the value around its first equals sign. -/
theorem splitOnce_eq_iff {part key value : List Char} :
    splitOnce part = (key, value) ↔
      '=' ∉ key ∧ (part = key ++ '=' :: value ∨ (part = key ∧ value = [])) := by
  constructor
  · intro h
    obtain ⟨rfl, rfl⟩ := Prod.mk.inj h
    refine ⟨fun hmem => by simpa using List.mem_takeWhile_imp hmem, ?_⟩
    have hpart := List.takeWhile_append_dropWhile (p := fun c => decide (c ≠ '=')) (l := part)
    cases hrest : part.dropWhile fun c => decide (c ≠ '=') with
    | nil =>
      rw [hrest, List.append_nil] at hpart
      exact .inr ⟨hpart.symm, rfl⟩
    | cons c rest =>
      -- the rest starts with the equals sign
      have hne : part.dropWhile (fun c => decide (c ≠ '=')) ≠ [] := by
        rw [hrest]
        exact List.cons_ne_nil _ _
      have hc : c = '=' := by
        simpa only [hrest, List.head_cons, decide_eq_false_iff_not, ne_eq, not_not] using
          List.head_dropWhile_not _ hne
      rw [hrest, hc] at hpart
      exact .inl hpart.symm
  · rintro ⟨hkey, rfl | ⟨rfl, rfl⟩⟩
    · have hall := forall_ne_of_not_mem hkey
      rw [splitOnce, List.takeWhile_append_of_pos hall, List.dropWhile_append_of_pos hall]
      simp
    · have hall := forall_ne_of_not_mem hkey
      rw [splitOnce, List.takeWhile_eq_self_iff.mpr hall, List.dropWhile_eq_nil_iff.mpr hall]
      rfl

theorem queryPairs_cons (part : List Char) (parts : List (List Char))
    (acc : List (List Char × List Char)) :
    queryPairs (part :: parts) acc =
      if (splitOnce part).1 = [] ∨ (splitOnce part).1 ∈ acc.map Prod.fst then
        .error .ambiguousQuery
      else queryPairs parts (acc ++ [splitOnce part]) := by
  rw [queryPairs]
  split
  · -- the key of an empty part is empty
    rename_i hempty
    subst hempty
    rw [if_pos (.inl rfl)]
  · rfl

/-- The parts are read one after the other, up to one whose key is empty or was read before. -/
theorem queryPairs_eq_ok_iff {parts : List (List Char)} {acc : List (List Char × List Char)}
    (hacc : (acc.map Prod.fst).Nodup) :
    queryPairs parts acc = .ok pairs ↔
      pairs = acc ++ parts.map splitOnce ∧ (∀ part ∈ parts, (splitOnce part).1 ≠ []) ∧
        (pairs.map Prod.fst).Nodup := by
  induction parts generalizing acc with
  | nil =>
    simp only [queryPairs, List.map_nil, List.append_nil, List.not_mem_nil, false_implies,
      implies_true, true_and, Except.ok.injEq]
    constructor
    · rintro rfl
      exact ⟨rfl, hacc⟩
    · rintro ⟨rfl, -⟩
      rfl
  | cons part parts ih =>
    rw [queryPairs_cons]
    split
    · -- the part is refused
      rename_i hbad
      refine iff_of_false (by simp) ?_
      rintro ⟨rfl, hkeys, hnodup⟩
      rcases hbad with hkey | hmem
      · exact hkeys part List.mem_cons_self hkey
      · rw [List.map_append, List.map_cons, List.map_cons, List.nodup_append] at hnodup
        exact hnodup.2.2 _ hmem _ List.mem_cons_self rfl
    · rename_i hbad
      rw [not_or] at hbad
      have hacc' : ((acc ++ [splitOnce part]).map Prod.fst).Nodup := by
        rw [List.map_append, List.nodup_append]
        refine ⟨hacc, by simp, fun a ha b hb hab => hbad.2 ?_⟩
        rw [List.map_singleton, List.mem_singleton] at hb
        rwa [← hb, ← hab]
      rw [ih hacc', List.append_assoc, List.singleton_append, ← List.map_cons]
      simp only [List.forall_mem_cons, hbad.1, ne_eq, not_false_eq_true, true_and]

/-- **What is read of a query that is not refused**: its parts, each as a key and a value. -/
theorem pairsOf_eq_ok_iff (hquery : query ≠ "") :
    pairsOf query = .ok pairs ↔ ¬ Ambiguous query ∧ pairs = (partsOf query).map splitOnce := by
  have hpart : [] ∈ partsOf query → ∃ part ∈ partsOf query, (splitOnce part).1 = [] :=
    fun h => ⟨[], h, rfl⟩
  unfold pairsOf
  rw [if_neg hquery]
  by_cases hchars : ' ' ∈ query.toList ∨ '#' ∈ query.toList
  · rw [if_pos (by
      rcases hchars with h | h
      · exact List.any_eq_true.mpr ⟨' ', h, rfl⟩
      · exact List.any_eq_true.mpr ⟨'#', h, rfl⟩)]
    refine iff_of_false (by simp) fun h => h.1 ⟨hquery, ?_⟩
    tauto
  · rw [if_neg (by
      intro h
      obtain ⟨c, hc, heq⟩ := List.any_eq_true.mp h
      rcases (by simpa using heq : c = '#' ∨ c = ' ') with rfl | rfl
      · exact hchars (.inr hc)
      · exact hchars (.inl hc)), queryPairs_eq_ok_iff (by simp)]
    rw [not_or] at hchars
    have hkeys : (∀ part ∈ partsOf query, (splitOnce part).1 ≠ []) ↔
        ¬ ∃ part ∈ partsOf query, (splitOnce part).1 = [] := by
      simp
    constructor
    · rintro ⟨rfl, hne, hnodup⟩
      refine ⟨?_, rfl⟩
      have hno := hkeys.mp hne
      rintro ⟨-, h | h | h | h | h⟩
      · exact hchars.1 h
      · exact hchars.2 h
      · exact hno (hpart h)
      · exact hno h
      · rw [List.nil_append, List.map_map] at hnodup
        exact h hnodup
    · rintro ⟨hclear, rfl⟩
      refine ⟨rfl, hkeys.mpr fun h => hclear ⟨hquery, .inr (.inr (.inr (.inl h)))⟩, ?_⟩
      rw [List.map_map]
      by_contra h
      exact hclear ⟨hquery, .inr (.inr (.inr (.inr h)))⟩

theorem exists_pairsOf_iff : (∃ pairs, pairsOf query = .ok pairs) ↔ ¬ Ambiguous query := by
  by_cases hquery : query = ""
  · exact iff_of_true ⟨[], by rw [pairsOf, if_pos hquery]⟩ fun h => h.1 hquery
  · constructor
    · rintro ⟨pairs, h⟩
      exact ((pairsOf_eq_ok_iff hquery).mp h).1
    · intro h
      exact ⟨_, (pairsOf_eq_ok_iff hquery).mpr ⟨h, rfl⟩⟩

theorem eq_ambiguousQuery_of_queryPairs {parts : List (List Char)}
    {acc : List (List Char × List Char)} {e : ConnectorHmacError}
    (h : queryPairs parts acc = .error e) : e = .ambiguousQuery := by
  induction parts generalizing acc with
  | nil => simp [queryPairs] at h
  | cons part parts ih =>
    rw [queryPairs_cons] at h
    split at h
    · exact (Except.error.inj h).symm
    · exact ih h

theorem eq_ambiguousQuery_of_pairsOf {e : ConnectorHmacError} (h : pairsOf query = .error e) :
    e = .ambiguousQuery := by
  unfold pairsOf at h
  split at h
  · simp at h
  · split at h
    · exact (Except.error.inj h).symm
    · exact eq_ambiguousQuery_of_queryPairs h

theorem assigns_iff_mem (h : pairsOf query = .ok pairs) (key value : List Char) :
    Assigns query key value ↔ (key, value) ∈ pairs := by
  by_cases hquery : query = ""
  · have hpairs : pairs = [] := by
      rw [pairsOf, if_pos hquery] at h
      exact (Except.ok.inj h).symm
    simp [Assigns, hquery, hpairs]
  · obtain ⟨-, rfl⟩ := (pairsOf_eq_ok_iff hquery).mp h
    simp only [Assigns, ne_eq, hquery, not_false_eq_true, true_and, List.mem_map, splitOnce_eq_iff]
    constructor
    · rintro ⟨hkey, hmem | ⟨hmem, rfl⟩⟩
      · exact ⟨_, hmem, hkey, .inl rfl⟩
      · exact ⟨_, hmem, hkey, .inr ⟨rfl, rfl⟩⟩
    · rintro ⟨part, hmem, hkey, rfl | ⟨rfl, rfl⟩⟩
      · exact ⟨hkey, .inl hmem⟩
      · exact ⟨hkey, .inr ⟨hmem, rfl⟩⟩

/-! ## Sorting -/

theorem keyLe_trans (a b c : List Char × List Char) (hab : keyLe a b = true)
    (hbc : keyLe b c = true) : keyLe a c = true := by
  simp only [keyLe, decide_eq_true_eq] at *
  exact List.le_trans hab hbc

theorem keyLe_total (a b : List Char × List Char) : (keyLe a b || keyLe b a) = true := by
  simp only [keyLe, Bool.or_eq_true, decide_eq_true_eq]
  exact List.le_total _ _

theorem key_eq_of_keyLe {a b : List Char × List Char} (hab : keyLe a b = true)
    (hba : keyLe b a = true) : a.1 = b.1 := by
  simp only [keyLe, decide_eq_true_eq] at *
  exact String.ofList_injective (utf8_injective (List.le_antisymm hab hba))

theorem sorted_mergeSort (pairs : List (List Char × List Char)) :
    (pairs.mergeSort keyLe).Pairwise fun a b => keyLe a b = true :=
  List.pairwise_mergeSort keyLe_trans keyLe_total pairs

theorem WellFormedPairs.of_perm (h : WellFormedPairs pairs) (hperm : pairs.Perm pairs') :
    WellFormedPairs pairs' where
  nodup := (hperm.map Prod.fst).nodup_iff.mp h.nodup
  key pair hpair := h.key pair (hperm.mem_iff.mpr hpair)
  value pair hpair := h.value pair (hperm.mem_iff.mpr hpair)

/-- Keys occur once, so that their order leaves no choice. -/
theorem mergeSort_eq_of_perm (h : WellFormedPairs pairs) (hperm : pairs.Perm pairs') :
    pairs.mergeSort keyLe = pairs'.mergeSort keyLe := by
  have hsort := List.mergeSort_perm pairs keyLe
  have hsort' := List.mergeSort_perm pairs' keyLe
  refine List.Perm.eq_of_pairwise ?_ (sorted_mergeSort pairs) (sorted_mergeSort pairs')
    (hsort.trans (hperm.trans hsort'.symm))
  intro a b ha hb hab hba
  have ha := hsort.mem_iff.mp ha
  have hb := hperm.mem_iff.mpr (hsort'.mem_iff.mp hb)
  exact List.inj_on_of_nodup_map h.nodup ha hb (key_eq_of_keyLe hab hba)

/-! ## Normal forms -/

theorem splitOnce_renderPair {pair : List Char × List Char} (h : '=' ∉ pair.1) :
    splitOnce (renderPair pair) = pair :=
  splitOnce_eq_iff.mpr ⟨h, .inl rfl⟩

theorem mem_of_mem_renderPairs {c : Char} (h : c ∈ (renderPairs pairs).toList) :
    c = '&' ∨ c = '=' ∨ ∃ pair ∈ pairs, c ∈ pair.1 ∨ c ∈ pair.2 := by
  rw [renderPairs, String.toList_ofList] at h
  rcases mem_of_mem_intercalate h with h | ⟨part, hpart, hc⟩
  · exact .inl (List.mem_singleton.mp h)
  · obtain ⟨pair, hpair, rfl⟩ := List.mem_map.mp hpart
    rw [renderPair, List.mem_append, List.mem_cons] at hc
    have hmem := (List.mergeSort_perm pairs keyLe).mem_iff.mp hpair
    rcases hc with hc | rfl | hc
    · exact .inr (.inr ⟨pair, hmem, .inl hc⟩)
    · exact .inr (.inl rfl)
    · exact .inr (.inr ⟨pair, hmem, .inr hc⟩)

/-- The parts of a normal form are the pairs in the order of their keys. -/
theorem partsOf_renderPairs (h : WellFormedPairs pairs) (hne : pairs ≠ []) :
    partsOf (renderPairs pairs) = (pairs.mergeSort keyLe).map renderPair := by
  have hperm := List.mergeSort_perm pairs keyLe
  rw [partsOf, renderPairs, String.toList_ofList]
  refine List.splitOn_intercalate '&' (fun part hpart => ?_) ?_
  · obtain ⟨pair, hpair, rfl⟩ := List.mem_map.mp hpart
    have hmem := hperm.mem_iff.mp hpair
    simp [renderPair, (h.key pair hmem).2, h.value pair hmem]
  · rw [ne_eq, List.map_eq_nil_iff]
    intro hnil
    rw [hnil] at hperm
    exact hne hperm.nil_eq.symm

variable (h : pairsOf query = .ok pairs)
include h

/-- The characters of the pairs are those of the query. -/
theorem mem_query_of_mem_pair {pair : List Char × List Char} {c : Char} (hpair : pair ∈ pairs)
    (hc : c ∈ pair.1 ∨ c ∈ pair.2) :
    c ∈ query.toList := by
  have hquery : query ≠ "" := by
    rintro rfl
    cases h
    cases hpair
  obtain ⟨-, rfl⟩ := (pairsOf_eq_ok_iff hquery).mp h
  obtain ⟨part, hpart, rfl⟩ := List.mem_map.mp hpair
  have hmem : c ∈ part := by
    rcases hc with hc | hc
    · exact (List.takeWhile_prefix _).subset hc
    · exact (List.dropWhile_suffix _).subset ((List.drop_suffix 1 _).subset hc)
  have hjoin : ['&'].intercalate (query.toList.splitOn '&') = query.toList :=
    List.intercalate_splitOn '&'
  rw [← hjoin]
  exact mem_intercalate_of_mem hpart hmem

theorem key_ne_nil_of_pairsOf : ∀ pair ∈ pairs, pair.1 ≠ [] := by
  intro pair hpair hnil
  have hquery : query ≠ "" := by
    rintro rfl
    cases h
    cases hpair
  obtain ⟨hclear, rfl⟩ := (pairsOf_eq_ok_iff hquery).mp h
  obtain ⟨part, hpart, rfl⟩ := List.mem_map.mp hpair
  exact hclear ⟨hquery, .inr (.inr (.inr (.inl ⟨part, hpart, hnil⟩)))⟩

/-- **A normal form is read as the pairs it was made of**, in the order of their keys. -/
theorem pairsOf_renderPairs :
    pairsOf (renderPairs pairs) = .ok (pairs.mergeSort keyLe) := by
  have hwf := wellFormed_of_pairsOf h
  have hkeys := key_ne_nil_of_pairsOf h
  have hperm := List.mergeSort_perm pairs keyLe
  by_cases hne : pairs = []
  · subst hne
    simp [renderPairs, pairsOf]
  have hread : (partsOf (renderPairs pairs)).map splitOnce = pairs.mergeSort keyLe := by
    rw [partsOf_renderPairs hwf hne, List.map_map]
    conv_rhs => rw [← List.map_id (pairs.mergeSort keyLe)]
    exact List.map_congr_left fun pair hpair =>
      splitOnce_renderPair (hwf.key pair (hperm.mem_iff.mp hpair)).1
  -- each part is read as one of the pairs, whose keys are not empty
  have hpart : ∀ part ∈ partsOf (renderPairs pairs), (splitOnce part).1 ≠ [] := by
    intro part hmem
    have hpair : splitOnce part ∈ pairs.mergeSort keyLe := hread ▸ List.mem_map_of_mem hmem
    exact hkeys _ (hperm.mem_iff.mp hpair)
  have hrender : renderPairs pairs ≠ "" := by
    intro hempty
    refine hpart [] ?_ rfl
    rw [hempty]
    exact List.mem_singleton_self _
  have hchar : ∀ {c : Char}, c ∈ (renderPairs pairs).toList → c ≠ '&' → c ≠ '=' →
      c ∈ query.toList := by
    intro c hc hamp heq
    obtain ⟨pair, hpair, hmem⟩ := ((mem_of_mem_renderPairs hc).resolve_left hamp).resolve_left heq
    exact mem_query_of_mem_pair h hpair hmem
  rw [pairsOf_eq_ok_iff hrender, hread]
  refine ⟨?_, rfl⟩
  have hquery : query ≠ "" := by
    rintro rfl
    cases h
    exact hne rfl
  obtain ⟨hclear, -⟩ := (pairsOf_eq_ok_iff hquery).mp h
  rintro ⟨-, hc | hc | hc | ⟨part, hmem, hnil⟩ | hdup⟩
  · exact hclear ⟨hquery, .inl (hchar hc (by decide) (by decide))⟩
  · exact hclear ⟨hquery, .inr (.inl (hchar hc (by decide) (by decide)))⟩
  · exact hpart [] hc rfl
  · exact hpart part hmem hnil
  · refine hdup ?_
    have hnodup := (hwf.of_perm hperm.symm).nodup
    rwa [← hread, List.map_map] at hnodup

omit h

theorem renderPairs_mergeSort (pairs : List (List Char × List Char)) :
    renderPairs (pairs.mergeSort keyLe) = renderPairs pairs := by
  rw [renderPairs, List.mergeSort_of_pairwise (sorted_mergeSort pairs), ← renderPairs]

/-- The same pairs, in any order, are written in the same way. -/
theorem renderPairs_eq_iff (h : WellFormedPairs pairs) (h' : WellFormedPairs pairs') :
    renderPairs pairs = renderPairs pairs' ↔ ∀ pair, pair ∈ pairs ↔ pair ∈ pairs' := by
  constructor
  · intro heq pair
    exact (perm_of_renderPairs_eq h h' heq).mem_iff
  · intro hmem
    have hperm : pairs.Perm pairs' :=
      (List.perm_ext_iff_of_nodup h.nodup.of_map h'.nodup.of_map).mpr hmem
    rw [renderPairs, renderPairs, mergeSort_eq_of_perm h hperm]

end ConnectorHmac

open ConnectorHmac

/-- **The normal form of a query**: a query is refused exactly if it is ambiguous; otherwise its
normal form is normal, and another query has the same normal form exactly if it denotes the same
map. -/
theorem query_normal_form (query : String) :
    (Ambiguous query ∧ normalizeQuery query = .error .ambiguousQuery) ∨
      (¬ Ambiguous query ∧ ∃ normal, normalizeQuery query = .ok normal ∧
        normalizeQuery normal = .ok normal ∧
        ∀ query' normal', normalizeQuery query' = .ok normal' →
          (normal = normal' ↔
            ∀ key value, Assigns query key value ↔ Assigns query' key value)) := by
  cases hpairs : pairsOf query with
  | error e =>
    refine .inl ⟨?_, ?_⟩
    · by_contra hclear
      obtain ⟨pairs, hok⟩ := exists_pairsOf_iff.mpr hclear
      simp [hpairs] at hok
    · rw [normalizeQuery_eq, hpairs, eq_ambiguousQuery_of_pairsOf hpairs]
      rfl
  | ok pairs =>
    refine .inr ⟨exists_pairsOf_iff.mp ⟨pairs, hpairs⟩, renderPairs pairs, ?_, ?_, ?_⟩
    · rw [normalizeQuery_eq, hpairs]
      rfl
    · rw [normalizeQuery_eq, pairsOf_renderPairs hpairs]
      exact congrArg Except.ok (renderPairs_mergeSort pairs)
    · intro query' normal' hnormal'
      rw [normalizeQuery_eq] at hnormal'
      cases hpairs' : pairsOf query' with
      | error e =>
        rw [hpairs'] at hnormal'
        simp [Except.map] at hnormal'
      | ok pairs' =>
        rw [hpairs'] at hnormal'
        obtain rfl := Except.ok.inj hnormal'
        rw [renderPairs_eq_iff (wellFormed_of_pairsOf hpairs) (wellFormed_of_pairsOf hpairs')]
        simp only [assigns_iff_mem hpairs, assigns_iff_mem hpairs', Prod.forall]

end ImBridge
